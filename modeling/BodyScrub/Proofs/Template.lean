import BodyScrub.Operation
import BodyScrub.Proofs.Pattern.Groups
import BodyScrub.Proofs.Text.Numerals

/-!
# Templates that are spelled

A template is read in two steps, each with escapes of its own: first references are brought into their normal form,
then the normal form is read. What is meant by a template can be spelled so that both steps together give it back:
with a backslash before every backslash and every dollar sign of the literal text, and with references in braces.

* **`normalize_spell`**: the first step takes the backslashes before dollar signs away and leaves the other ones.
* **`read_spell`**: the second step gives one part for every reference and for every literal code point.
* **`Replacement.build_spell`**: the template is accepted, and every match is replaced by what was meant.
-/

namespace BodyScrub

open Pattern (Token Stop Reader Reading Subject)

namespace Template

/-! ## What is meant, and how it is spelled -/

/-- What is meant by a part of a template. -/
inductive Phrase where
  /-- Text that stands for itself. -/
  | literal (t : Text)
  /-- A group by its number. -/
  | numbered (n : Nat)
  /-- A group by its name. -/
  | named (name : Text)

namespace Phrase

/-- A literal code point, with a backslash before it if it has a meaning of its own. -/
def escape (c : CodePoint) : Text :=
  if c = CodePoint.backslash || c = dollar then [CodePoint.backslash, c] else [c]

/-- A reference in braces. -/
def reference (name : Text) : Text := dollar :: CodePoint.openBrace :: (name ++ [CodePoint.closeBrace])

/-- A phrase as it is written in a template. -/
def text : Phrase → Text
  | literal t => t.flatMap escape
  | numbered n => reference (Text.ofNat n)
  | named name => reference name

/-- The template that is written for some phrases. -/
def spell (ps : List Phrase) : Text := ps.flatMap text

/-- What a phrase stands for at a match. A name that no group has stands for nothing. -/
def expand (p : Pattern) (s : Subject) (m : Match) : Phrase → Text
  | literal t => t
  | numbered n => m.groupText s n
  | named name => ((p.names.get? name).map (m.groupText s)).getD []

/-- Whether what a phrase refers to exists in a pattern, and by a plain name if by a name. -/
def Exists (p : Pattern) : Phrase → Prop
  | literal _ => True
  | numbered n => n ≤ p.groupCount
  | named name => (p.names.get? name).isSome = true ∧ ∀ c ∈ name, c.isAsciiWord = true

instance (p : Pattern) : DecidablePred (Exists p)
  | literal _ => inferInstanceAs (Decidable True)
  | numbered n => inferInstanceAs (Decidable (n ≤ p.groupCount))
  | named name =>
    inferInstanceAs (Decidable ((p.names.get? name).isSome = true ∧ ∀ c ∈ name, c.isAsciiWord = true))

end Phrase

/-! ## What references refer to -/

/-- A plain name or numeral and the number of the group that it refers to. -/
structure Refers (p : Pattern) (name : Text) (index : Nat) : Prop where
  nonempty : name ≠ []
  plain : ∀ c ∈ name, c.isAsciiWord = true
  target : name.isIdentifier = true ∧ p.names.get? name = some index
    ∨ name.isIdentifier = false ∧ name.integer? = some (index : Int) ∧ index < Pattern.maxGroups ∧ index ≤ p.groupCount

namespace Refers

variable {p : Pattern} {name : Text} {index : Nat}

/-- A name that is referred to is made of code points of words, so it may stand in braces. -/
theorem isWord (h : Refers p name index) : ∀ c ∈ name, c.isWord = true :=
  fun c hc => CodePoint.isWord_of_isAsciiWord (h.plain c hc)

/-- It is free of everything else, as of the brackets around it and of the backslash. -/
theorem not_mem (h : Refers p name index) {c : CodePoint} (hc : c.isAsciiWord = false) : c ∉ name :=
  fun hmem => absurd (h.plain c hmem) (by simp [hc])

/-- A group is referred to by its numeral. Numerals are no identifiers, and few enough groups have numerals that are
read back. -/
theorem ofNat (hlimit : p.groupCount < Pattern.maxGroups) (h : index ≤ p.groupCount) :
    Refers p (Text.ofNat index) index := by
  have hdigits := Text.allDigits_ofNat index
  have hshort : (Text.ofNat index).length ≤ 10 := (Text.length_ofNat_le_iff (by decide)).2 (by
    have : Pattern.maxGroups < 10 ^ 10 := by decide
    omega)
  have hidentifier : (Text.ofNat index).isIdentifier = false := by
    cases htext : Text.ofNat index with
    | nil => rfl
    | cons c t =>
      rw [htext] at hdigits
      exact Text.isIdentifier_eq_false (hdigits c List.mem_cons_self) t
  -- the numeral is short, since the number of groups is
  constructor
  case nonempty => exact Text.ofNat_ne_nil index
  case plain => exact fun c hc => CodePoint.isAsciiWord_of_isAsciiDigit (hdigits c hc)
  case target =>
    exact Or.inr ⟨hidentifier, Text.integer?_ofNat (Nat.le_trans hshort (by decide)), Nat.lt_of_le_of_lt h hlimit, h⟩

/-- A group is referred to by its name, which is an identifier in every pattern that is read. An identifier never is
a number, so it is not taken for one. -/
theorem ofName (hnames : ∀ e ∈ p.names, e.1.isIdentifier = true) (hplain : ∀ c ∈ name, c.isAsciiWord = true)
    (h : p.names.get? name = some index) : Refers p name index := by
  have hidentifier : name.isIdentifier = true := hnames _ (Entries.mem_of_get? h)
  refine ⟨?_, hplain, Or.inl ⟨hidentifier, h⟩⟩
  rintro rfl
  cases hidentifier

end Refers

/-- The reference of a phrase, if it is one, refers to a group. -/
def Phrase.Resolves (p : Pattern) : Phrase → Prop
  | literal _ => True
  | numbered n => Refers p (Text.ofNat n) n
  | named name => ∃ index, p.names.get? name = some index ∧ Refers p name index

/-- In a pattern that is read, all that exists can be referred to. Nothing else of the pattern is of use for
templates. -/
theorem Phrase.Exists.resolves {flags : Pattern.Flags} {source : Text} {p : Pattern}
    (hp : Pattern.read flags source = .ok p) {ph : Phrase} (h : ph.Exists p) : ph.Resolves p := by
  obtain ⟨hlimit, hnames⟩ := Pattern.groups_of_read hp
  cases ph with
  | literal t => trivial
  | numbered n => exact Refers.ofNat hlimit h
  | named name =>
    obtain ⟨hsome, hplain⟩ := h
    obtain ⟨index, hindex⟩ := Option.isSome_iff_exists.1 hsome
    exact ⟨index, hindex, Refers.ofName (fun e he => (hnames e he).1) hplain hindex⟩

/-! ## The normal form -/

/-- What is done piece by piece is done to all pieces together. It serves both steps of reading, over phrases and
over the code points of a literal. -/
theorem flatMap_append_of_step {α β γ : Type} {f : List β → List γ} {a : α → List β} {b : α → List γ} {xs : List α}
    (h : ∀ x ∈ xs, ∀ t, f (a x ++ t) = b x ++ f t) (t : List β) : f (xs.flatMap a ++ t) = xs.flatMap b ++ f t := by
  induction xs with
  | nil => rfl
  | cons x xs ih =>
    have hrest := ih fun y hy => h y (List.mem_cons_of_mem x hy)
    rw [List.flatMap_cons, List.append_assoc, h x List.mem_cons_self, hrest, List.flatMap_cons, List.append_assoc]

theorem normalizeFrom_append (a t : Text) : normalizeFrom a.length (a ++ t) = normalizeFrom 0 t := by
  induction a with
  | nil => rfl
  | cons c a ih => simpa [normalizeFrom] using ih

/-- Behind a dollar sign, a name in braces is a reference, up to the closing brace. -/
theorem reference?_braced {name : Text} (hne : name ≠ []) (hname : ∀ c ∈ name, c.isWord = true) (t : Text) :
    reference? (CodePoint.openBrace :: (name ++ CodePoint.closeBrace :: t)) = some (name, name.length + 2) := by
  have hword : (name ++ CodePoint.closeBrace :: t).takeWhile CodePoint.isWord = name := by
    rw [List.takeWhile_append_of_pos hname, List.takeWhile_cons_of_neg (by decide), List.append_nil]
  have hdigits : (CodePoint.openBrace :: (name ++ CodePoint.closeBrace :: t)).takeWhile CodePoint.isDigit = [] :=
    List.takeWhile_cons_of_neg (by decide)
  have hempty : name.isEmpty = false := by simpa using hne
  simp [reference?, hdigits, hword, hempty]

/-- A reference in braces is brought into its normal form, and the step goes on behind it. -/
theorem normalizeFrom_reference {name : Text} (hne : name ≠ []) (hname : ∀ c ∈ name, c.isWord = true) (t : Text) :
    normalizeFrom 0 (Phrase.reference name ++ t) = referenceText name ++ normalizeFrom 0 t := by
  have hskip : normalizeFrom (name.length + 2) (CodePoint.openBrace :: (name ++ CodePoint.closeBrace :: t))
      = normalizeFrom 0 t := by
    simpa using normalizeFrom_append (CodePoint.openBrace :: (name ++ [CodePoint.closeBrace])) t
  have htext : Phrase.reference name ++ t
      = dollar :: (CodePoint.openBrace :: (name ++ CodePoint.closeBrace :: t)) := by
    simp [Phrase.reference]
  rw [htext, normalizeFrom, if_neg (by decide), if_pos rfl, reference?_braced hne hname]
  dsimp only
  rw [hskip]

/-- A literal code point in the normal form. -/
def normalPoint (c : CodePoint) : Text := if c = CodePoint.backslash then [c, c] else [c]

/-- A literal code point loses the backslash before a dollar sign here, and keeps the one before a backslash for the
second step. -/
theorem normalizeFrom_escape (c : CodePoint) (t : Text) :
    normalizeFrom 0 (Phrase.escape c ++ t) = normalPoint c ++ normalizeFrom 0 t := by
  -- the backslash and the dollar sign are the two that are escaped
  by_cases hslash : c = CodePoint.backslash
  · subst hslash
    rfl
  · by_cases hdollar : c = dollar
    · subst hdollar
      rfl
    · simp [Phrase.escape, normalPoint, normalizeFrom, hslash, hdollar]

/-- A phrase in the normal form. -/
def Phrase.normalText : Phrase → Text
  | literal t => t.flatMap normalPoint
  | numbered n => referenceText (Text.ofNat n)
  | named name => referenceText name

/-- A phrase is brought into its normal form, whatever follows it. That nothing behind it is looked at is what makes
templates composable. -/
theorem normalizeFrom_phrase {p : Pattern} {ph : Phrase} (h : ph.Resolves p) (t : Text) :
    normalizeFrom 0 (ph.text ++ t) = ph.normalText ++ normalizeFrom 0 t := by
  cases ph with
  | literal u => exact flatMap_append_of_step (fun c _ => normalizeFrom_escape c) t
  | numbered n => exact normalizeFrom_reference (Refers.nonempty h) (Refers.isWord h) t
  | named name =>
    obtain ⟨_, -, h⟩ := h
    exact normalizeFrom_reference h.nonempty h.isWord t

/-- The normal form of a template that is spelled is made of those of its phrases. No phrase runs into the next one,
since literals are escaped and references are in braces. -/
theorem normalize_spell {p : Pattern} {ps : List Phrase} (h : ∀ ph ∈ ps, ph.Resolves p) :
    normalize (Phrase.spell ps) = ps.flatMap Phrase.normalText := by
  have hphrases := flatMap_append_of_step (fun ph hph => normalizeFrom_phrase (h ph hph)) []
  rwa [List.append_nil, normalizeFrom, List.append_nil] at hphrases

/-! ## Tokens -/

/-- A literal code point of the normal form as a token. -/
def pointToken (c : CodePoint) : Token := if c = CodePoint.backslash then .escaped c else .plain c

/-- A reference in the normal form as tokens. -/
def referenceTokens (name : Text) : List Token :=
  .escaped 'g' :: .plain '<' :: (name.map Token.plain ++ [.plain '>'])

/-- The tokens of a phrase in the normal form. -/
def Phrase.tokens : Phrase → List Token
  | literal t => t.map pointToken
  | numbered n => referenceTokens (Text.ofNat n)
  | named name => referenceTokens name

theorem ofText_plain {c : CodePoint} (h : c ≠ CodePoint.backslash) (t : Text) :
    Token.ofText (c :: t) = .plain c :: Token.ofText t := by
  rw [Pattern.Token.ofText.eq_def]
  dsimp only
  rw [if_neg h]

theorem ofText_escaped (c : CodePoint) (t : Text) :
    Token.ofText (CodePoint.backslash :: c :: t) = .escaped c :: Token.ofText t := by
  rw [Pattern.Token.ofText.eq_def]
  dsimp only
  rw [if_pos rfl]

/-- A text without backslashes has one token for each of its code points. -/
theorem ofText_plains {u : Text} (h : CodePoint.backslash ∉ u) (t : Text) :
    Token.ofText (u ++ t) = u.map Token.plain ++ Token.ofText t := by
  induction u with
  | nil => rfl
  | cons c u ih =>
    obtain ⟨hc, hu⟩ := List.ne_and_not_mem_of_not_mem_cons h
    rw [List.cons_append, ofText_plain (Ne.symm hc), ih hu, List.map_cons, List.cons_append]

/-- A literal code point of the normal form is one token. -/
theorem ofText_normalPoint (c : CodePoint) (t : Text) :
    Token.ofText (normalPoint c ++ t) = [pointToken c] ++ Token.ofText t := by
  rw [normalPoint, pointToken]
  split
  · next hc =>
    rw [hc]
    exact ofText_escaped _ _
  · next hc => exact ofText_plain hc _

/-- A reference in the normal form is the escape of `g` with the name in angle brackets. Its name has no backslash,
so its tokens are its code points. -/
theorem ofText_reference {name : Text} (h : CodePoint.backslash ∉ name) (t : Text) :
    Token.ofText (referenceText name ++ t) = referenceTokens name ++ Token.ofText t := by
  have htext : referenceText name ++ t
      = CodePoint.backslash :: CodePoint.ofChar 'g' :: CodePoint.ofChar '<' :: (name ++ CodePoint.ofChar '>' :: t) := by
    show CodePoint.backslash :: CodePoint.ofChar 'g' :: CodePoint.ofChar '<' :: ((name ++ [CodePoint.ofChar '>']) ++ t)
      = _
    simp
  rw [htext, ofText_escaped, ofText_plain (by decide), ofText_plains h, ofText_plain (by decide)]
  simp [referenceTokens]

/-- A phrase in the normal form has its own tokens, whatever follows it. -/
theorem ofText_phrase {p : Pattern} {ph : Phrase} (h : ph.Resolves p) (t : Text) :
    Token.ofText (ph.normalText ++ t) = ph.tokens ++ Token.ofText t := by
  cases ph with
  | literal u =>
    rw [Phrase.tokens, List.map_eq_flatMap]
    exact flatMap_append_of_step (fun c _ => ofText_normalPoint c) t
  | numbered n => exact ofText_reference (Refers.not_mem h (by decide)) t
  | named name =>
    obtain ⟨_, -, h⟩ := h
    exact ofText_reference (h.not_mem (by decide)) t

/-- The tokens of a normal form are those of its phrases, one after another. This is the second of the two escape
layers. -/
theorem ofText_normalText {p : Pattern} {ps : List Phrase} (h : ∀ ph ∈ ps, ph.Resolves p) :
    Token.ofText (ps.flatMap Phrase.normalText) = ps.flatMap Phrase.tokens := by
  have hphrases := flatMap_append_of_step (fun ph hph => ofText_phrase (h ph hph)) []
  simpa [Token.ofText] using hphrases

/-! ## Reading the parts -/

/-- These tokens are read as these parts of a template. -/
structure Reads (p : Pattern) (ts : List Token) (parts : List Part) : Prop where
  whole : Token.stray ∉ ts
  few : parts.length ≤ ts.length
  run : ∀ limit, parts.length ≤ limit → ∀ s : Reading, s.tokens = ts → ∃ s', readParts p limit s = .ok (parts, s')

/-- Only a backslash at the very end is refused, and there is none among these tokens. The reader looks one token
ahead at every step, so the lemma is needed for all ends of a row. -/
theorem checkNext_eq_ok {ts : List Token} (h : Token.stray ∉ ts) : Token.checkNext ts = .ok () := by
  unfold Token.checkNext
  split
  · exact absurd List.mem_cons_self h
  · rfl

section Runs

variable {α β : Type} (s : Reading)

theorem run_bind (x : Reader α) (f : α → Reader β) : (x >>= f) s = (x s).bind fun r => f r.1 r.2 := rfl

theorem run_pure (a : α) : (pure a : Reader α) s = .ok (a, s) := rfl

theorem run_onTokens (f : List Token → Except Stop (α × List Token)) :
    Reader.onTokens f s = (f s.tokens).map fun r => (r.1, { s with tokens := r.2 }) := rfl

end Runs

theorem take_cons {t : Token} {ts : List Token} (h : Token.stray ∉ ts) : Token.take (t :: ts) = .ok (some t, ts) := by
  rw [Token.take, checkNext_eq_ok h]
  rfl

/-- A plain token is read as a part of its own, with one unit of the limit. -/
theorem readParts_plain {p : Pattern} {limit : Nat} {s : Reading} {c : CodePoint} {ts : List Token}
    (hts : Token.stray ∉ ts) (hs : s.tokens = .plain c :: ts) :
    readParts p (limit + 1) s = (readParts p limit { s with tokens := ts }).map fun r => (.text [c] :: r.1, r.2) := by
  have htake := take_cons (t := .plain c) hts
  rw [← hs] at htake
  simp only [readParts, Reader.take, run_bind, run_onTokens, htake, Except.map, Except.bind]
  rfl

/-- An escaped token begins a part that may take more tokens off. A reference takes all of its name, and the limit
counts it as one part. -/
theorem readParts_escaped {p : Pattern} {limit : Nat} {s : Reading} {c : CodePoint} {ts : List Token}
    (hts : Token.stray ∉ ts) (hs : s.tokens = .escaped c :: ts) :
    readParts p (limit + 1) s = (escapedPart p c { s with tokens := ts }).bind fun r =>
      (readParts p limit r.2).map fun r' => (r.1 :: r'.1, r'.2) := by
  have htake := take_cons (t := .escaped c) hts
  rw [← hs] at htake
  simp only [readParts, Reader.take, run_bind, run_onTokens, htake, Except.map, Except.bind]
  rfl

/-- A name is taken off up to the closing angle bracket, which is not in it. `done` is what has been taken off so
far. -/
theorem takeUntil_plains {name : Text} (hname : CodePoint.ofChar '>' ∉ name) {ts : List Token}
    (hts : Token.stray ∉ ts) (what done : Text) (hne : done ++ name ≠ []) :
    Token.takeUntil '>' what done (name.map Token.plain ++ .plain '>' :: ts) = .ok (done ++ name, ts) := by
  induction name generalizing done with
  | nil =>
    have hempty : done.isEmpty = false := by simpa using hne
    rw [List.append_nil, List.map_nil, List.nil_append, Token.takeUntil, checkNext_eq_ok hts]
    simp [hempty]
  | cons c name ih =>
    obtain ⟨hc, hname⟩ := List.ne_and_not_mem_of_not_mem_cons hname
    have hwhole : Token.stray ∉ name.map Token.plain ++ .plain '>' :: ts := by simp [hts]
    have hplain : Token.plain c ≠ .plain '>' := fun h => hc (Token.plain.inj h).symm
    have hstep := ih hname (done ++ [c]) (by simp)
    rw [List.map_cons, List.cons_append, Token.takeUntil, checkNext_eq_ok hwhole]
    dsimp only
    rw [if_neg hplain, Token.text, hstep, List.append_assoc]
    rfl

/-- A number up to that of the groups is accepted, wherever it stands. Zero is among them: it is the whole match. -/
theorem numberedPart_of_le {p : Pattern} {index : Nat} (hlimit : index < Pattern.maxGroups)
    (hcount : index ≤ p.groupCount) (back : Nat) : numberedPart p index back = pure (.group index) := by
  have hnot : ¬(Pattern.maxGroups ≤ index || p.groupCount < index) = true := by
    simp
    omega
  rw [numberedPart, if_neg hnot]

/-- What refers to a group is read as this group: an identifier by its name, and a numeral by its value. The two are
told apart by the first code point. -/
theorem namedPart_of_refers {p : Pattern} {name : Text} {index : Nat} (h : Refers p name index) {ts : List Token}
    (hts : Token.stray ∉ ts) {s : Reading} (hs : s.tokens = .plain '<' :: (name.map Token.plain ++ .plain '>' :: ts)) :
    namedPart p s = .ok (.group index, { s with tokens := ts }) := by
  have hwhole : Token.stray ∉ name.map Token.plain ++ .plain '>' :: ts := by simp [hts]
  have hskip : Token.skip? '<' s.tokens = .ok (some (name.map Token.plain ++ .plain '>' :: ts)) := by
    rw [hs, Token.skip?, if_pos rfl, checkNext_eq_ok hwhole]
    rfl
  have huntil := takeUntil_plains (h.not_mem (by decide)) hts "group name" [] h.nonempty
  rw [List.nil_append] at huntil
  -- by its name, or by its numeral
  rcases h.target with ⟨hidentifier, hget⟩ | ⟨hidentifier, hinteger, hlimit, hcount⟩
  · simp [namedPart, Reader.skip, Reader.takeUntil, run_bind, run_onTokens, run_pure, hskip, huntil, hidentifier, hget,
      Except.bind, Except.map]
  · have hnonneg : ¬(index : Int) < 0 := by omega
    simp [namedPart, Reader.skip, Reader.takeUntil, run_bind, run_onTokens, run_pure, hskip, huntil, hidentifier,
      hinteger, hnonneg, numberedPart_of_le hlimit hcount, Except.bind, Except.map]

theorem Reads.nil (p : Pattern) : Reads p [] [] := by
  refine ⟨List.not_mem_nil, Nat.le_refl 0, fun limit _ s hs => ?_⟩
  cases limit with
  | zero => exact ⟨s, rfl⟩
  | succ limit =>
    refine ⟨{ s with tokens := [] }, ?_⟩
    simp only [readParts, Reader.take, run_bind, run_onTokens, hs, Token.take, Except.map, Except.bind]
    rfl

/-- One more part in front, if it is what is read from its tokens. A part has a token at least, so that the number
of tokens is a limit that is high enough. -/
theorem Reads.cons {p : Pattern} {ts : List Token} {parts : List Part} (h : Reads p ts parts) {lead : List Token}
    {part : Part} (hwhole : Token.stray ∉ lead) (hne : lead ≠ [])
    (hstep : ∀ limit s, s.tokens = lead ++ ts →
      readParts p (limit + 1) s = (readParts p limit { s with tokens := ts }).map fun r => (part :: r.1, r.2)) :
    Reads p (lead ++ ts) (part :: parts) := by
  constructor
  case whole => simp [hwhole, h.whole]
  case few =>
    have hfew := h.few
    have hpos : 0 < lead.length := List.length_pos_iff.2 hne
    simp only [List.length_cons, List.length_append]
    omega
  case run =>
    intro limit hlimit s hs
    cases limit with
    | zero => cases hlimit
    | succ limit =>
      obtain ⟨s', hrun⟩ := h.run limit (Nat.le_of_succ_le_succ hlimit) { s with tokens := ts } rfl
      refine ⟨s', ?_⟩
      rw [hstep limit s hs, hrun]
      rfl

/-- A literal code point in front, be it a backslash or another one. -/
theorem Reads.point {p : Pattern} {ts : List Token} {parts : List Part} (h : Reads p ts parts) (c : CodePoint) :
    Reads p (pointToken c :: ts) (.text [c] :: parts) := by
  rw [pointToken]
  split
  · next hc =>
    show Reads p ([Token.escaped c] ++ ts) (.text [c] :: parts)
    refine h.cons (by simp) (by simp) fun limit s hs => ?_
    have hpart : escapedPart p CodePoint.backslash { s with tokens := ts }
        = .ok (.text [CodePoint.backslash], { s with tokens := ts }) := rfl
    rw [readParts_escaped h.whole hs, hc, hpart]
    rfl
  · show Reads p ([Token.plain c] ++ ts) (.text [c] :: parts)
    exact h.cons (by simp) (by simp) fun limit s hs => readParts_plain h.whole hs

/-- A reference in front is read as the group that it refers to. -/
theorem Reads.reference {p : Pattern} {ts : List Token} {parts : List Part} (h : Reads p ts parts) {name : Text}
    {index : Nat} (hrefers : Refers p name index) :
    Reads p (referenceTokens name ++ ts) (.group index :: parts) := by
  refine h.cons (by simp [referenceTokens]) (by simp [referenceTokens]) fun limit s hs => ?_
  have hwhole : Token.stray ∉ .plain '<' :: (name.map Token.plain ++ .plain '>' :: ts) := by simp [h.whole]
  have htokens : s.tokens = .escaped 'g' :: .plain '<' :: (name.map Token.plain ++ .plain '>' :: ts) := by
    simp [hs, referenceTokens]
  have hpart := namedPart_of_refers hrefers h.whole
    (s := { s with tokens := .plain '<' :: (name.map Token.plain ++ .plain '>' :: ts) }) rfl
  rw [readParts_escaped hwhole htokens, escapedPart, if_pos rfl, hpart]
  rfl

/-- The parts of a template that a phrase stands for. -/
def Phrase.parts (p : Pattern) : Phrase → List Part
  | literal t => t.map fun c => .text [c]
  | numbered n => [.group n]
  | named name => ((p.names.get? name).map Part.group).toList

/-- A phrase in front, whose parts are read from its tokens. A literal is read code point by code point. -/
theorem Reads.phrase {p : Pattern} {ts : List Token} {parts : List Part} (h : Reads p ts parts) {ph : Phrase}
    (hph : ph.Resolves p) : Reads p (ph.tokens ++ ts) (ph.parts p ++ parts) := by
  cases ph with
  | literal t =>
    -- each code point is a part of its own
    induction t with
    | nil => exact h
    | cons c t ih => exact (ih trivial).point c
  | numbered n => exact h.reference hph
  | named name =>
    obtain ⟨index, hindex, hrefers⟩ := hph
    simpa [Phrase.parts, Phrase.tokens, hindex] using h.reference hrefers

/-- A row of phrases is read as their parts, one phrase after another from the end. The induction is on the phrases,
since the reader needs the rest to be readable first. -/
theorem Reads.phrases {p : Pattern} {ps : List Phrase} (h : ∀ ph ∈ ps, ph.Resolves p) :
    Reads p (ps.flatMap Phrase.tokens) (ps.flatMap (Phrase.parts p)) := by
  induction ps with
  | nil => exact Reads.nil p
  | cons ph ps ih =>
    rw [List.flatMap_cons, List.flatMap_cons]
    exact (ih fun q hq => h q (List.mem_cons_of_mem ph hq)).phrase (h ph List.mem_cons_self)

/-- Tokens that are read as parts make a template of these parts. -/
theorem read_of_reads {p : Pattern} {t : Text} {parts : List Part} (h : Reads p (Token.ofText t) parts) :
    read p t = .ok ⟨parts⟩ := by
  obtain ⟨s', hrun⟩ := h.run (Token.ofText t).length h.few (Reading.ofTokens (Token.ofText t)) rfl
  have hparts : readTokens p t = .ok ⟨parts⟩ := by
    simp only [readTokens, checkNext_eq_ok h.whole, StateT.run, hrun]
    rfl
  rw [read, hparts]
  rfl

/-- The second step gives one part for every reference and for every literal code point of the phrases. Expanding
these parts gives what the phrases mean. -/
theorem read_spell {p : Pattern} {ps : List Phrase} (h : ∀ ph ∈ ps, ph.Resolves p) :
    read p (normalize (Phrase.spell ps)) = .ok ⟨ps.flatMap (Phrase.parts p)⟩ := by
  refine read_of_reads ?_
  rw [normalize_spell h, ofText_normalText h]
  exact Reads.phrases h

/-! ## Expansion -/

/-- The parts of a phrase stand for what the phrase stands for, at every match. A group that takes no part stands
for nothing in both. -/
theorem Phrase.expand_parts (p : Pattern) (s : Subject) (m : Match) (ph : Phrase) :
    (ph.parts p).flatMap (Part.expand s m) = ph.expand p s m := by
  cases ph with
  | literal t => simp [Phrase.parts, Phrase.expand, Part.expand, List.flatMap_map]
  | numbered n => simp [Phrase.parts, Phrase.expand, Part.expand]
  | named name => cases hget : p.names.get? name <;> simp [Phrase.parts, Phrase.expand, Part.expand, hget]

theorem expand_parts (p : Pattern) (ps : List Phrase) (s : Subject) (m : Match) :
    (⟨ps.flatMap (Phrase.parts p)⟩ : Template).expand s m = ps.flatMap (Phrase.expand p s m) := by
  rw [expand, List.flatMap_assoc]
  simp only [Phrase.expand_parts]

end Template

open Template (Phrase)

/-- The template that is written for some phrases is accepted for every pattern that has the groups, and in every text
each match is replaced by what the phrases stand for there: the literals as they are, and the texts of the groups, which
are empty for groups that take no part. -/
theorem Replacement.build_spell {flags : Pattern.Flags} {words : Text} {p : Pattern}
    (hp : Pattern.read flags words = .ok p) {source : PatternSource} (hsource : source.read = .ok p)
    {ps : List Phrase} (hps : ∀ ph ∈ ps, ph.Exists p) :
    ∃ r, Replacement.build source (.string (Phrase.spell ps)) = .ok r ∧ r.pattern = p
      ∧ ∀ t, r.replace? t =
        if p.occursIn t then some (p.replaceAll (fun s m => ps.flatMap (Phrase.expand p s m)) t) else none := by
  have hread := Template.read_spell fun ph hph => (hps ph hph).resolves hp
  refine ⟨⟨p, _, _, hread⟩, ?_, rfl, fun t => ?_⟩
  · simp only [build, hsource, ofText]
    split
    · next template h =>
      obtain rfl := Except.ok.inj (hread.symm.trans h)
      rfl
    -- the template was read, so there is no fault of it
    · next f h => cases hread.symm.trans h
  · have hexpand : Template.expand ⟨ps.flatMap (Phrase.parts p)⟩ = fun s m => ps.flatMap (Phrase.expand p s m) :=
      funext fun s => funext fun m => Template.expand_parts p ps s m
    rw [replace?, Pattern.replace, hexpand]

/-- A backslash and a dollar sign next to each other, references by name and number, and a group that takes no part. -/
theorem Replacement.build_spell_named :
    ∃ r, Replacement.build (.text "(?P<key>a)=(b)?") (.string "$\x7bkey\x7d\\\\\\$5 \x7b$\x7b2\x7d\x7d") = .ok r
      ∧ r.replace? "a= a=b" = some ("a\\$5 \x7b\x7d a\\$5 \x7bb\x7d" : Text) := by
  have hfound : (Pattern.read Pattern.Flags.empty "(?P<key>a)=(b)?").toOption.map (fun p =>
      let ps := [.named "key", .literal "\\$5 \x7b", .numbered 2, .literal "\x7d"]
      (decide (∀ ph ∈ ps, Phrase.Exists p ph), p.occursIn "a= a=b",
        p.replaceAll (fun s m => ps.flatMap (Phrase.expand p s m)) "a= a=b"))
      = some (true, true, ("a\\$5 \x7b\x7d a\\$5 \x7bb\x7d" : Text)) := by
    decide +kernel
  obtain ⟨p, hp, hchecks⟩ := Option.map_eq_some_iff.1 hfound
  obtain ⟨hexist, hrest⟩ := Prod.mk.inj hchecks
  obtain ⟨hoccurs, hreplaced⟩ := Prod.mk.inj hrest
  have hread := Json.eq_ok_of_toOption hp
  have hsource : (PatternSource.text "(?P<key>a)=(b)?").read = .ok p := by
    rw [PatternSource.read, hread]
    rfl
  obtain ⟨r, hr, -, hreplace⟩ := build_spell hread hsource (of_decide_eq_true hexist)
  refine ⟨r, hr, ?_⟩
  rw [hreplace, if_pos hoccurs, hreplaced]

end BodyScrub
