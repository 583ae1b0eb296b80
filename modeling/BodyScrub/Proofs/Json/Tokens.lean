import BodyScrub.Proofs.Json.Spelling

/-!
# Reading tokens

The scanners for strings, numbers and words take exactly the spellings of a token off the head of a text. In one
direction a scanner is run over the text of a spelling; there a number has to be followed by something that does
not continue it. In the other a successful run is taken apart into a spelling and the rest.
-/

namespace BodyScrub

/-! ## Results that come in parts -/

/-- A mapped result that succeeds was mapped from one that did. Runs of monadic code are taken apart with this lemma
and the next, and never by unfolding the bind. -/
theorem exists_of_map_eq_ok {ε α β : Type} {x : Except ε α} {f : α → β} {b : β} (h : x.map f = .ok b) :
    ∃ a, x = .ok a ∧ f a = b := by
  cases x with
  | error e => cases h
  | ok a => exact ⟨a, rfl, Except.ok.inj h⟩

/-- Two parts that succeed together succeed one after the other. Readers, runs of steps and filters are all put
together with `bind`, and are taken apart again by this lemma. -/
theorem exists_of_bind_eq_ok {ε α β : Type} {x : Except ε α} {f : α → Except ε β} {b : β} (h : x.bind f = .ok b) :
    ∃ a, x = .ok a ∧ f a = .ok b := by
  cases x with
  | error e => cases h
  | ok a => exact ⟨a, rfl, h⟩

theorem eq_error_of_map {ε α β : Type} {x : Except ε α} {f : α → β} {e : ε} (h : x.map f = .error e) :
    x = .error e := by
  cases x with
  | error e' => rw [Except.error.inj h]
  | ok a => cases h

namespace Json

/-- A closed run is checked as an option, whose equality is decidable where that of faults is not. Only the examples
of bodies that are evaluated need it. -/
theorem eq_ok_of_toOption {ε α : Type} {x : Except ε α} {a : α} (h : x.toOption = some a) : x = .ok a := by
  cases x with
  | error e => cases h
  | ok b => rw [Option.some.inj h]

/-! ## What may follow a value -/

/-- The code points that may stand after a value and its blanks. -/
def isCloser (c : CodePoint) : Bool := c = ',' || c = ']' || c = CodePoint.closeBrace

/-- What may follow a value: blanks, and then the end, a comma or a closing bracket. -/
def Follows (r : Text) : Prop := ∀ c ∈ (skipSpace r).head?, isCloser c = true

theorem Follows.nil : Follows [] := fun _ h => absurd h (Option.not_mem_none _)

theorem Follows.blanks (b : Blanks) {r : Text} (h : Follows r) : Follows (b.text ++ r) := by
  unfold Follows
  rw [Blanks.skipSpace_append]
  exact h

/-- What closes or parts values is no blank. -/
theorem isSpace_eq_false_of_isCloser {c : CodePoint} (h : isCloser c = true) : isSpace c = false := by
  simp only [isCloser, Bool.or_eq_true, decide_eq_true_eq] at h
  rcases h with (rfl | rfl) | rfl <;> rfl

theorem skipSpace_cons {c : CodePoint} (h : isSpace c = false) (r : Text) : skipSpace (c :: r) = c :: r := by
  unfold skipSpace
  rw [List.dropWhile_cons, h]
  rfl

/-- A comma or a closing bracket may follow a value, and then anything. These are the only places in a container
where a value ends. -/
theorem Follows.closer {c : CodePoint} (h : isCloser c = true) (r : Text) : Follows (c :: r) := by
  unfold Follows
  rw [skipSpace_cons (isSpace_eq_false_of_isCloser h)]
  intro d hd
  rw [← Option.mem_some.1 hd]
  exact h

/-- What follows a value begins with a blank or with what closes or parts values. That is why a number, whose end is
not marked in its text, ends where its value ends. -/
theorem Follows.head {r : Text} (h : Follows r) {c : CodePoint} (hc : c ∈ r.head?) :
    isSpace c = true ∨ isCloser c = true := by
  cases r with
  | nil => exact absurd hc (Option.not_mem_none _)
  | cons d r =>
    obtain rfl : d = c := Option.some.inj hc
    cases hd : isSpace d with
    | true => exact Or.inl rfl
    | false =>
      refine Or.inr (h d ?_)
      rw [skipSpace_cons hd]
      rfl

/-- Whether a code point may continue a number. -/
def continuesNumber (c : CodePoint) : Bool := c.isAsciiDigit || c = '.' || c = 'e' || c = 'E'

/-- Nothing that may follow a value continues a number. So the scanner of numbers stops where the spelling of the
number ends. -/
theorem Follows.not_continuesNumber {r : Text} (h : Follows r) {c : CodePoint} (hc : c ∈ r.head?) :
    continuesNumber c = false := by
  have hhead := h.head hc
  simp only [isSpace, isCloser, Bool.or_eq_true, decide_eq_true_eq] at hhead
  rcases hhead with (((rfl | rfl) | rfl) | rfl) | ((rfl | rfl) | rfl) <;> rfl

/-! ## Strings -/

section Strings

variable (start : Text) (afterHigh : Bool) (done : Text)

/-- The closing quote ends a string, which was kept backwards. It is the base of the induction over glyphs, as the
three lemmas below are its steps. -/
theorem readString_quote (r : Text) :
    readString start afterHigh done (CodePoint.quote :: r) = .ok (done.reverse, r) := by
  unfold readString
  rw [if_pos rfl]

/-- A code point that needs no escape is kept, and no high surrogate waits after it. -/
theorem readString_plain {c : CodePoint} (h : c ≠ CodePoint.quote ∧ c ≠ CodePoint.backslash ∧ 0x20 ≤ c.val)
    (t : Text) : readString start afterHigh done (c :: t) = readString start false (c :: done) t := by
  rw [readString.eq_def]
  dsimp only
  rw [if_neg h.1, if_neg (by omega), if_neg h.2.1]

theorem simpleEscape?_u : simpleEscape? 'u' = none := by decide

theorem readString_letter {e d : CodePoint} (h : simpleEscape? e = some d) (t : Text) :
    readString start afterHigh done (CodePoint.backslash :: e :: t) = readString start false (d :: done) t := by
  -- the letter of a numeric escape is tested before the others
  have hu : e ≠ CodePoint.ofChar 'u' := by
    rintro rfl
    exact absurd (simpleEscape?_u.symm.trans h) (by simp)
  rw [readString.eq_def]
  dsimp only
  rw [if_neg (by decide), if_neg (by decide), if_pos rfl, if_neg hu, h]

/-- A numeric escape is added to what was read, which may join it with a high surrogate there. The text behind it is
not empty, as the closing quote at least is still to come. -/
theorem readString_number {h₁ h₂ h₃ h₄ : CodePoint} {n : Nat} (h : hex4? h₁ h₂ h₃ h₄ = some n)
    {t : Text} (ht : t ≠ []) :
    readString start afterHigh done (CodePoint.backslash :: CodePoint.ofChar 'u' :: h₁ :: h₂ :: h₃ :: h₄ :: t)
      = readString start (CodePoint.ofNat n).isHighSurrogate (addEscaped afterHigh n done) t := by
  -- an escape at the very end of a text is a complaint, so something has to come after it
  have hempty : ¬t.isEmpty = true := by
    rw [List.isEmpty_iff]
    exact ht
  rw [readString.eq_def]
  dsimp only
  rw [if_neg (by decide), if_neg (by decide), if_pos rfl, if_pos rfl, h]
  dsimp only
  rw [if_neg hempty]

open Glyph in
/-- The glyphs up to the closing quote are read as what they spell, whatever stands behind the quote. The induction
is on the glyphs, for every state in which the reader may be between two of them. -/
theorem readString_glyphs (gs : List Glyph) (r : Text) :
    readString start afterHigh done (textOf gs ++ CodePoint.quote :: r) = .ok (decodeFrom afterHigh done gs, r) := by
  induction gs generalizing afterHigh done with
  | nil => exact readString_quote start afterHigh done r
  | cons g gs ih =>
    rw [textOf_cons, List.append_assoc]
    cases g with
    | plain c h =>
      show readString start afterHigh done (c :: (textOf gs ++ CodePoint.quote :: r)) = _
      rw [readString_plain start afterHigh done h, ih]
      rfl
    | letter e d h =>
      show readString start afterHigh done (CodePoint.backslash :: e :: (textOf gs ++ CodePoint.quote :: r)) = _
      rw [readString_letter start afterHigh done h, ih]
      rfl
    | number h₁ h₂ h₃ h₄ n h =>
      have hrest : textOf gs ++ CodePoint.quote :: r ≠ [] :=
        List.append_ne_nil_of_right_ne_nil _ (List.cons_ne_nil _ _)
      have hread := readString_number start afterHigh done h hrest
      rw [ih] at hread
      exact hread

open Glyph in
/-- A string that is read is spelled by glyphs and ends with a quote. This and `readString_glyphs` say that the
scanner takes exactly the spellings. -/
theorem exists_glyphs_of_readString {t s r : Text} (h : readString start afterHigh done t = .ok (s, r)) :
    ∃ gs, t = textOf gs ++ CodePoint.quote :: r ∧ decodeFrom afterHigh done gs = s := by
  -- the scanner stops at the quote and goes on after a plain code point and the two kinds of escapes
  fun_induction readString start afterHigh done t with
  | case2 afterHigh done t =>
    obtain ⟨rfl, rfl⟩ := Prod.mk.inj (Except.ok.inj h)
    exact ⟨[], rfl, rfl⟩
  | case6 afterHigh done h₁ h₂ h₃ h₄ t n hn hne hq hc ih =>
    obtain ⟨gs, ht, hgs⟩ := ih h
    refine ⟨.number h₁ h₂ h₃ h₄ n hn :: gs, ?_, hgs⟩
    rw [ht]
    rfl
  | case9 afterHigh done e t hu d hd hq hc ih =>
    obtain ⟨gs, ht, hgs⟩ := ih h
    refine ⟨.letter e d hd :: gs, ?_, hgs⟩
    rw [ht]
    rfl
  | case11 afterHigh done c t hq hc hslash ih =>
    obtain ⟨gs, ht, hgs⟩ := ih h
    refine ⟨.plain c ⟨hq, hslash, by omega⟩ :: gs, ?_, hgs⟩
    rw [ht]
    rfl
  | _ => exact absurd h (by simp)

end Strings

/-! ## Numbers -/

/-- A run is known by what is in it and by what stands right behind it. All lemmas that read digits from a text with
a rest are cases of this one. -/
theorem span_append_of {p : CodePoint → Bool} {a r : Text} (ha : ∀ c ∈ a, p c = true)
    (hr : ∀ c ∈ r.head?, p c = false) : Text.span p (a ++ r) = (a, r) := by
  induction a with
  | nil =>
    -- the run ends here, since what follows is not in the class
    cases r with
    | nil => rfl
    | cons c r =>
      rw [List.nil_append, Text.span, hr c rfl]
      rfl
  | cons c a ih =>
    rw [List.cons_append, Text.span, ha c List.mem_cons_self, ih fun d hd => ha d (List.mem_cons_of_mem c hd)]
    rfl

theorem of_mem_span {p : CodePoint → Bool} {t : Text} {c : CodePoint} (h : c ∈ (Text.span p t).1) :
    p c = true := by
  induction t with
  | nil => exact absurd h List.not_mem_nil
  | cons d t ih =>
    rw [Text.span] at h
    split at h
    · next hd =>
      rcases List.mem_cons.1 h with rfl | h
      · exact hd
      · exact ih h
    · exact absurd h List.not_mem_nil

theorem allDigits_of_span {t ds r : Text} (h : Text.span CodePoint.isAsciiDigit t = (ds, r)) :
    AllDigits ds ∧ t = ds ++ r := by
  have happ := Text.span_append CodePoint.isAsciiDigit t
  rw [h] at happ
  refine ⟨fun c hc => of_mem_span (p := CodePoint.isAsciiDigit) (t := t) ?_, happ.symm⟩
  rw [h]
  exact hc

/-- What does not continue a number is no digit, in particular. -/
theorem not_isAsciiDigit_of {c : CodePoint} (h : continuesNumber c = false) : c.isAsciiDigit = false := by
  simp only [continuesNumber, Bool.or_eq_false_iff] at h
  exact h.1.1.1

/-- The digits before the point are taken as a whole. Behind a single zero nothing is taken, even if it is a digit,
and the two cases are those of `IsWhole`. -/
theorem whole?_append {w r : Text} (hw : IsWhole w) (hr : ∀ c ∈ r.head?, c.isAsciiDigit = false) :
    whole? (w ++ r) = some (w, r) := by
  -- a single zero, or a run of digits that does not begin with one
  rcases hw with rfl | ⟨c, t, rfl, hc, hd⟩
  · rfl
  · have hspan : Text.span CodePoint.isAsciiDigit (c :: (t ++ r)) = (c :: t, r) := span_append_of hd hr
    rw [List.cons_append, whole?, if_neg hc, if_pos (hd c List.mem_cons_self), hspan]

/-- What is taken is such a row of digits, in front of the rest. -/
theorem isWhole_of_whole? {t w r : Text} (h : whole? t = some (w, r)) : IsWhole w ∧ t = w ++ r := by
  cases t with
  | nil => cases h
  | cons c t =>
    rw [whole?] at h
    split at h
    · next hc =>
      obtain ⟨rfl, rfl⟩ := Prod.mk.inj (Option.some.inj h)
      exact ⟨Or.inl (by rw [hc]), rfl⟩
    · next hc =>
      split at h
      · next hd =>
        obtain ⟨hall, happ⟩ := allDigits_of_span (Option.some.inj h)
        -- the run of digits begins with `c`, which is not the zero
        refine ⟨Or.inr ?_, happ⟩
        rw [Text.span, if_pos hd] at h
        obtain ⟨rfl, rfl⟩ := Prod.mk.inj (Option.some.inj h)
        exact ⟨c, _, rfl, hc, hall⟩
      · exact absurd h (by simp)

theorem fraction?_append {ds r : Text} (hne : ds ≠ []) (hd : AllDigits ds)
    (hr : ∀ c ∈ r.head?, c.isAsciiDigit = false) :
    fraction? (CodePoint.ofChar '.' :: (ds ++ r)) = some (ds, r) := by
  rw [fraction?, if_pos rfl, span_append_of hd hr]
  cases ds with
  | nil => exact absurd rfl hne
  | cons d ds => rfl

theorem fraction?_eq_none {r : Text} (hr : ∀ c ∈ r.head?, c ≠ CodePoint.ofChar '.') : fraction? r = none := by
  cases r with
  | nil => rfl
  | cons c r => rw [fraction?, if_neg (hr c rfl)]

/-- A fraction that is taken has a digit at least: a point alone is left to what follows the number. -/
theorem allDigits_of_fraction? {t ds r : Text} (h : fraction? t = some (ds, r)) :
    ds ≠ [] ∧ AllDigits ds ∧ t = CodePoint.ofChar '.' :: (ds ++ r) := by
  cases t with
  | nil => cases h
  | cons c t =>
    rw [fraction?] at h
    split at h
    · next hc =>
      split at h
      · exact absurd h (by simp)
      · next hne =>
        obtain ⟨hall, happ⟩ := allDigits_of_span (Option.some.inj h)
        refine ⟨?_, hall, by rw [hc, happ]⟩
        rintro rfl
        exact hne _ (Option.some.inj h)
    · exact absurd h (by simp)

theorem ne_of_isAsciiDigit {c d : CodePoint} (hc : c.isAsciiDigit = true) (hd : d.isAsciiDigit = false) : c ≠ d := by
  rintro rfl
  rw [hc] at hd
  exact absurd hd (by decide)

/-- The sign in front of a digit is taken off, and what is left is the magnitude. -/
theorem takeSign_append (sign : Sign) {d : CodePoint} (hd : d.isAsciiDigit = true) (t : Text) :
    (takeSign (sign.text ++ d :: t)).2 = d :: t
      ∧ ∀ n : Nat, (if (takeSign (sign.text ++ d :: t)).1 then -(n : Int) else n) = sign.apply n := by
  cases sign with
  | absent =>
    -- the digit is none of the two signs, so nothing is taken off
    have hminus : d ≠ CodePoint.ofChar '-' := ne_of_isAsciiDigit hd (by decide)
    have hplus : d ≠ CodePoint.ofChar '+' := ne_of_isAsciiDigit hd (by decide)
    show (takeSign (d :: t)).2 = d :: t ∧ _
    rw [Sign.text, List.nil_append, takeSign, if_neg hminus, if_neg hplus]
    exact ⟨rfl, fun _ => rfl⟩
  | plus => exact ⟨rfl, fun _ => rfl⟩
  | minus => exact ⟨rfl, fun _ => rfl⟩

/-- What is taken off is one of the three signs, the missing one included. The sign that was written is kept, since
a plus and no sign are different texts of one exponent. -/
theorem exists_sign_of_takeSign (t : Text) :
    ∃ sign : Sign, t = sign.text ++ (takeSign t).2
      ∧ ∀ n : Nat, sign.apply n = if (takeSign t).1 then -(n : Int) else n := by
  cases t with
  | nil => exact ⟨.absent, rfl, fun _ => rfl⟩
  | cons s r =>
    rw [takeSign]
    by_cases hminus : s = CodePoint.ofChar '-'
    · rw [if_pos hminus, hminus]
      exact ⟨.minus, rfl, fun _ => rfl⟩
    · by_cases hplus : s = CodePoint.ofChar '+'
      · rw [if_neg hminus, if_pos hplus, hplus]
        exact ⟨.plus, rfl, fun _ => rfl⟩
      · rw [if_neg hminus, if_neg hplus]
        exact ⟨.absent, rfl, fun _ => rfl⟩

/-- An exponent is taken with its sign and all of its digits, whichever of the two letters it begins with. -/
theorem exponent?_append (e : Exponent) {r : Text} (hr : ∀ c ∈ r.head?, c.isAsciiDigit = false) :
    exponent? (e.text ++ r) = some (e.value, r) := by
  obtain ⟨letter, sign, digits, hletter, hne, hall⟩ := e
  have hkey : (letter = CodePoint.ofChar 'e' || letter = CodePoint.ofChar 'E') = true := by
    simpa using hletter
  have hspan := span_append_of hall hr
  -- the sign is told from the digits by the first of these
  cases digits with
  | nil => exact absurd rfl hne
  | cons d ds =>
    obtain ⟨hrest, hvalue⟩ := takeSign_append sign (hall d List.mem_cons_self) (ds ++ r)
    have htext : sign.text ++ d :: ds ++ r = sign.text ++ d :: (ds ++ r) := List.append_assoc _ _ _
    show exponent? (letter :: (sign.text ++ d :: ds ++ r)) = some (sign.apply (digitsNat (d :: ds)), r)
    rw [htext, exponent?, if_pos hkey, hrest, ← List.cons_append, hspan, ← hvalue]
    rfl

theorem exponent?_eq_none {r : Text}
    (hr : ∀ c ∈ r.head?, c ≠ CodePoint.ofChar 'e' ∧ c ≠ CodePoint.ofChar 'E') : exponent? r = none := by
  cases r with
  | nil => rfl
  | cons c r =>
    have hkey : ¬(c = CodePoint.ofChar 'e' || c = CodePoint.ofChar 'E') = true := by
      simpa using hr c rfl
    rw [exponent?.eq_def]
    dsimp only
    rw [if_neg hkey]

/-- What is taken is spelled by an exponent. Its letter may be a capital, which is kept. -/
theorem exists_exponent_of_exponent? {t r : Text} {i : Int} (h : exponent? t = some (i, r)) :
    ∃ e : Exponent, e.value = i ∧ t = e.text ++ r := by
  cases t with
  | nil => cases h
  | cons c t =>
    rw [exponent?] at h
    split at h
    · next hletter =>
      split at h
      · exact absurd h (by simp)
      · next ds rest hne hspan =>
        obtain ⟨hvalue, rfl⟩ := Prod.mk.inj (Option.some.inj h)
        obtain ⟨sign, ht, happly⟩ := exists_sign_of_takeSign t
        obtain ⟨hall, happ⟩ := allDigits_of_span hspan
        refine ⟨⟨c, sign, ds, by simpa using hletter, hne, hall⟩, (happly _).trans hvalue, ?_⟩
        show c :: t = c :: (sign.text ++ ds) ++ rest
        rw [List.cons_append, List.append_assoc, ← happ, ← ht]
    · exact absurd h (by simp)

theorem optional_eq_some {α : Type} {piece? : Text → Option (α × Text)} {t r : Text} {a : α}
    (h : piece? t = some (a, r)) : optional piece? t = (some a, r) := by
  unfold optional
  rw [h]

theorem optional_eq_none {α : Type} {piece? : Text → Option (α × Text)} {t : Text}
    (h : piece? t = none) : optional piece? t = (none, t) := by
  unfold optional
  rw [h]

/-- Whether or not there is a fraction, what was taken is its text. Nothing was taken in the second case, whose text
is empty. -/
theorem fraction_of_optional {t r : Text} {f : Option Text} (h : optional fraction? t = (f, r)) :
    (∀ ds ∈ f, ds ≠ [] ∧ AllDigits ds) ∧ t = Numeral.fractionText f ++ r := by
  unfold optional at h
  split at h
  · next ds rest hds =>
    obtain ⟨rfl, rfl⟩ := Prod.mk.inj h
    obtain ⟨hne, hall, happ⟩ := allDigits_of_fraction? hds
    refine ⟨?_, happ⟩
    intro ds' hds'
    rw [← Option.some.inj hds']
    exact ⟨hne, hall⟩
  · obtain ⟨rfl, rfl⟩ := Prod.mk.inj h
    exact ⟨fun ds hds => absurd hds (Option.not_mem_none _), rfl⟩

theorem exists_exponent_of_optional {t r : Text} {i : Option Int} (h : optional exponent? t = (i, r)) :
    ∃ e : Option Exponent, e.map Exponent.value = i ∧ t = Numeral.exponentText e ++ r := by
  unfold optional at h
  split at h
  · next j rest hj =>
    obtain ⟨rfl, rfl⟩ := Prod.mk.inj h
    obtain ⟨e, rfl, happ⟩ := exists_exponent_of_exponent? hj
    exact ⟨some e, rfl, happ⟩
  · obtain ⟨rfl, rfl⟩ := Prod.mk.inj h
    exact ⟨none, rfl, rfl⟩

/-! ### A whole number -/

theorem not_isAsciiDigit_head {r : Text} (hr : ∀ c ∈ r.head?, continuesNumber c = false) :
    ∀ c ∈ r.head?, c.isAsciiDigit = false :=
  fun c hc => not_isAsciiDigit_of (hr c hc)

/-- An exponent begins with its letter, which is no digit. So the digits before it end there. -/
theorem not_isAsciiDigit_exponentText (e : Option Exponent) {r : Text}
    (hr : ∀ c ∈ r.head?, continuesNumber c = false) :
    ∀ c ∈ (Numeral.exponentText e ++ r).head?, c.isAsciiDigit = false := by
  cases e with
  | none => exact not_isAsciiDigit_head hr
  | some e =>
    intro c hc
    obtain rfl : e.letter = c := Option.some.inj hc
    rcases e.letter_eq with h | h
    · rw [h]; rfl
    · rw [h]; rfl

/-- An exponent that is spelled is taken, and what does not continue a number has none. -/
theorem optional_exponent (e : Option Exponent) {r : Text} (hr : ∀ c ∈ r.head?, continuesNumber c = false) :
    optional exponent? (Numeral.exponentText e ++ r) = (e.map Exponent.value, r) := by
  cases e with
  | none =>
    refine optional_eq_none (exponent?_eq_none fun c hc => ?_)
    have h := hr c hc
    simp only [continuesNumber, Bool.or_eq_false_iff, decide_eq_false_iff_not] at h
    exact ⟨h.1.2, h.2⟩
  | some e => exact optional_eq_some (exponent?_append e (not_isAsciiDigit_head hr))

/-- An exponent or the end stands where a fraction is missing. -/
theorem optional_fraction (n : Numeral) {r : Text} (hr : ∀ c ∈ r.head?, continuesNumber c = false) :
    optional fraction? (Numeral.fractionText n.fraction ++ (Numeral.exponentText n.exponent ++ r))
      = (n.fraction, Numeral.exponentText n.exponent ++ r) := by
  cases hf : n.fraction with
  | none =>
    refine optional_eq_none (fraction?_eq_none fun c hc => ?_)
    -- the letter of an exponent is no point, and what follows the number does not continue it
    cases he : n.exponent with
    | none =>
      rw [he] at hc
      have h := hr c hc
      simp only [continuesNumber, Bool.or_eq_false_iff, decide_eq_false_iff_not] at h
      exact h.1.1.2
    | some e =>
      rw [he] at hc
      obtain rfl : e.letter = c := Option.some.inj hc
      rcases e.letter_eq with h | h
      · rw [h]; decide
      · rw [h]; decide
  | some ds =>
    -- the digits behind the point end where the exponent or the rest begins
    obtain ⟨hne, hall⟩ := n.isFraction ds hf
    exact optional_eq_some (fraction?_append hne hall (not_isAsciiDigit_exponentText n.exponent hr))

/-- The digits before the point end at the point, at the letter of an exponent or at the end. So `whole?` stops
there and takes none of what belongs to the other pieces. -/
theorem not_isAsciiDigit_fractionText (n : Numeral) {r : Text} (hr : ∀ c ∈ r.head?, continuesNumber c = false) :
    ∀ c ∈ (Numeral.fractionText n.fraction ++ (Numeral.exponentText n.exponent ++ r)).head?,
      c.isAsciiDigit = false := by
  cases hf : n.fraction with
  | none => exact not_isAsciiDigit_exponentText n.exponent hr
  | some ds =>
    intro c hc
    obtain rfl : CodePoint.ofChar '.' = c := Option.some.inj hc
    rfl

/-- The text of a number is read as that number, if what follows does not continue it. Its three pieces are taken
off one after the other, each with the rest of the text behind it. -/
theorem readMagnitude_text (n : Numeral) {v : Value} (hv : n.eval = some v) (start : Text) {r : Text}
    (hr : ∀ c ∈ r.head?, continuesNumber c = false) :
    readMagnitude n.negative start (n.magnitudeText ++ r) = .ok (v, r) := by
  have hwhole := whole?_append n.isWhole (not_isAsciiDigit_fractionText n hr)
  have hnumber : numberOf n.negative n.whole n.fraction (n.exponent.map Exponent.value) = .ok v := by
    exact eq_ok_of_toOption hv
  unfold readMagnitude Numeral.magnitudeText
  rw [List.append_assoc, List.append_assoc, hwhole]
  dsimp only
  rw [optional_fraction n hr]
  dsimp only
  rw [optional_exponent n.exponent hr]
  dsimp only
  rw [hnumber]

/-- A number that is read is spelled by a numeral. Its three pieces are found one after the other, and the value is
the one that the numeral evaluates to, by the definition of the reader. -/
theorem exists_numeral_of_readMagnitude {negative : Bool} {start t r : Text} {v : Value}
    (h : readMagnitude negative start t = .ok (v, r)) :
    ∃ n : Numeral, n.negative = negative ∧ t = n.magnitudeText ++ r ∧ n.eval = some v := by
  unfold readMagnitude at h
  split at h
  · exact absurd h (by simp)
  · next whole u hwhole =>
    -- each piece is taken off the text that the piece before it left
    obtain ⟨hw, ht⟩ := isWhole_of_whole? hwhole
    obtain ⟨hf, hu⟩ := fraction_of_optional (Prod.mk.eta (p := optional fraction? u)).symm
    obtain ⟨e, he, hrest⟩ := exists_exponent_of_optional
      (Prod.mk.eta (p := optional exponent? (optional fraction? u).2)).symm
    dsimp only at h
    split at h
    · next w hnumber =>
      obtain ⟨rfl, rfl⟩ := Prod.mk.inj (Except.ok.inj h)
      refine ⟨⟨negative, whole, (optional fraction? u).1, e, hw, hf⟩, rfl, ?_, ?_⟩
      · unfold Numeral.magnitudeText
        dsimp only
        rw [List.append_assoc, List.append_assoc, ← hrest, ← hu, ht]
      · unfold Numeral.eval
        dsimp only
        rw [he, hnumber]
        rfl
    · exact absurd h (by simp)

theorem Numeral.magnitudeText_cons (n : Numeral) :
    ∃ c t, n.magnitudeText = c :: t ∧ c.isAsciiDigit = true := by
  have hne := n.isWhole.ne_nil
  have hall := n.isWhole.allDigits
  unfold Numeral.magnitudeText
  cases hw : n.whole with
  | nil => exact absurd hw hne
  | cons c t =>
    rw [hw] at hall
    exact ⟨c, _, rfl, hall c List.mem_cons_self⟩

/-! ## Words and numbers -/

/-- A text does not go on from a word that begins with another letter. -/
theorem after?_cons_of_ne {a b : CodePoint} (h : a ≠ b) (lead t : Text) :
    Text.after? (a :: lead) (b :: t) = none := by
  rw [Text.after?, if_neg h]

/-- A text that begins with none of the words is read as a number. The reader tries the words in the order of its
two lists, so all of them have to be passed over first. -/
theorem readScalar_eq_readMagnitude (allowNonFinite : Bool) {c : CodePoint} {t : Text}
    (hword : ∀ p ∈ wordValues, Text.after? p.1 (c :: t) = none)
    (hnon : ∀ p ∈ nonFiniteWords, Text.after? p.1 (c :: t) = none) :
    readScalar allowNonFinite (c :: t)
      = if c = '-' then readMagnitude true (c :: t) t else readMagnitude false (c :: t) (c :: t) := by
  unfold readScalar
  split
  -- no word was found, though the search says so
  · next hfound =>
    obtain ⟨⟨w, v⟩, hmem, hafter⟩ := List.exists_of_findSome?_eq_some hfound
    simp [hword (w, v) hmem] at hafter
  · split
    · next hfound =>
      obtain ⟨⟨w, x⟩, hmem, hafter⟩ := List.exists_of_findSome?_eq_some hfound
      simp [hnon (w, x) hmem] at hafter
    · rfl

theorem readScalar_digit (allowNonFinite : Bool) {c : CodePoint} (hc : c.isAsciiDigit = true) (t : Text) :
    readScalar allowNonFinite (c :: t) = readMagnitude false (c :: t) (c :: t) := by
  have hne : ∀ {d : CodePoint}, d.isAsciiDigit = false → d ≠ c := fun hd => (ne_of_isAsciiDigit hc hd).symm
  rw [readScalar_eq_readMagnitude, if_neg (ne_of_isAsciiDigit hc (by decide))]
  · intro p hp
    simp only [wordValues, List.mem_cons, List.not_mem_nil, or_false] at hp
    rcases hp with rfl | rfl | rfl
    · exact after?_cons_of_ne (hne (by decide)) _ _
    · exact after?_cons_of_ne (hne (by decide)) _ _
    · exact after?_cons_of_ne (hne (by decide)) _ _
  · intro p hp
    simp only [nonFiniteWords, List.mem_cons, List.not_mem_nil, or_false] at hp
    rcases hp with rfl | rfl | rfl
    · exact after?_cons_of_ne (hne (by decide)) _ _
    · exact after?_cons_of_ne (hne (by decide)) _ _
    · exact after?_cons_of_ne (hne (by decide)) _ _

/-- A minus before a digit is that of a number and not that of the word for the negative infinite one. -/
theorem readScalar_minus (allowNonFinite : Bool) {c : CodePoint} (hc : c.isAsciiDigit = true) (t : Text) :
    readScalar allowNonFinite (CodePoint.ofChar '-' :: c :: t)
      = readMagnitude true (CodePoint.ofChar '-' :: c :: t) (c :: t) := by
  have hne : CodePoint.ofChar 'I' ≠ c := (ne_of_isAsciiDigit hc (by decide)).symm
  rw [readScalar_eq_readMagnitude, if_pos rfl]
  · intro p hp
    simp only [wordValues, List.mem_cons, List.not_mem_nil, or_false] at hp
    rcases hp with rfl | rfl | rfl
    · rfl
    · rfl
    · rfl
  · intro p hp
    simp only [nonFiniteWords, List.mem_cons, List.not_mem_nil, or_false] at hp
    rcases hp with rfl | rfl | rfl
    · rfl
    · rfl
    · -- the minus of the word for the negative infinite number is followed by a letter
      exact after?_cons_of_ne hne _ _

/-- A numeral is read as its number, with its sign or without. Together with the words this is all that an atom
without quotes can be. -/
theorem readScalar_numeral (allowNonFinite : Bool) (n : Numeral) {v : Value} (hv : n.eval = some v) {r : Text}
    (hr : ∀ c ∈ r.head?, continuesNumber c = false) : readScalar allowNonFinite (n.text ++ r) = .ok (v, r) := by
  obtain ⟨c, t, htext, hc⟩ := n.magnitudeText_cons
  have hread : ∀ start, readMagnitude n.negative start (c :: (t ++ r)) = .ok (v, r) := by
    intro start
    have h := readMagnitude_text n hv start hr
    rw [htext] at h
    exact h
  unfold Numeral.text
  rw [htext]
  cases hneg : n.negative with
  | false =>
    rw [hneg] at hread
    exact (readScalar_digit allowNonFinite hc (t ++ r)).trans (hread _)
  | true =>
    rw [hneg] at hread
    exact (readScalar_minus allowNonFinite hc (t ++ r)).trans (hread _)

/-- Words and numbers are read as their values. Words for numbers that are not finite have one only where they are
allowed. -/
theorem readScalar_atom {allowNonFinite : Bool} {a : Atom} {v : Value} (hv : a.eval allowNonFinite = some v)
    (ha : ∀ gs, a ≠ .string gs) {r : Text} (hr : ∀ c ∈ r.head?, continuesNumber c = false) :
    readScalar allowNonFinite (a.text ++ r) = .ok (v, r) := by
  cases a with
  | word w u h =>
    obtain rfl : u = v := Option.some.inj hv
    rcases mem_wordValues.1 h with ⟨rfl, rfl⟩ | ⟨rfl, rfl⟩ | ⟨rfl, rfl⟩
    · rfl
    · rfl
    · rfl
  | nonFinite w x h =>
    cases allowNonFinite with
    -- the atom has no value where such numbers are not allowed
    | false => cases hv
    | true =>
      obtain rfl : Value.real x = v := Option.some.inj hv
      rcases mem_nonFiniteWords.1 h with ⟨rfl, rfl⟩ | ⟨rfl, rfl⟩ | ⟨rfl, rfl⟩
      · rfl
      · rfl
      · rfl
  | number n => exact readScalar_numeral allowNonFinite n hv hr
  | string gs => exact absurd rfl (ha gs)

/-- What is read as a word or a number is spelled by an atom, whose text is the part of the text that was consumed. -/
theorem exists_atom_of_readScalar {allowNonFinite : Bool} {t r : Text} {v : Value}
    (h : readScalar allowNonFinite t = .ok (v, r)) :
    ∃ a : Atom, t = a.text ++ r ∧ a.eval allowNonFinite = some v := by
  unfold readScalar at h
  split at h
  · next p hfound =>
    obtain ⟨⟨w, u⟩, hmem, hw⟩ := List.exists_of_findSome?_eq_some hfound
    obtain ⟨rest, hrest, rfl⟩ := Option.map_eq_some_iff.1 hw
    obtain ⟨rfl, rfl⟩ := Prod.mk.inj (Except.ok.inj h)
    -- the table that was searched is the one that atoms are made from
    exact ⟨.word w u hmem, Text.after?_eq_some_iff.1 hrest, rfl⟩
  · split at h
    · next w x rest hfound =>
      obtain ⟨⟨w', x'⟩, hmem, hw⟩ := List.exists_of_findSome?_eq_some hfound
      obtain ⟨rest', hrest, heq⟩ := Option.map_eq_some_iff.1 hw
      obtain ⟨rfl, hx⟩ := Prod.mk.inj heq
      obtain ⟨rfl, rfl⟩ := Prod.mk.inj hx
      split at h
      · next hallow =>
        obtain ⟨rfl, rfl⟩ := Prod.mk.inj (Except.ok.inj h)
        exact ⟨.nonFinite w' x' hmem, Text.after?_eq_some_iff.1 hrest, if_pos hallow⟩
      · exact absurd h (by simp)
    · split at h
      · exact absurd h (by simp)
      · next c u _ _ =>
        split at h
        -- the minus belongs to the numeral
        · next hminus =>
          obtain ⟨n, hneg, ht, hn⟩ := exists_numeral_of_readMagnitude h
          refine ⟨.number n, ?_, hn⟩
          show c :: u = n.text ++ r
          rw [Numeral.text, if_pos hneg, hminus, ht]
          rfl
        · obtain ⟨n, hneg, ht, hn⟩ := exists_numeral_of_readMagnitude h
          refine ⟨.number n, ?_, hn⟩
          show c :: u = n.text ++ r
          rw [Numeral.text, hneg, ht]
          rfl

end Json

end BodyScrub
