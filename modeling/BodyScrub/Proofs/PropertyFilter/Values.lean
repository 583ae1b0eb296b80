import BodyScrub.PropertyFilter
import BodyScrub.Proofs.Json.Reading
import BodyScrub.Proofs.Text.Classes

/-!
# Values in the scan of a property filter

The scan takes values off the raw text by rules of its own: its strings may hold any code point, its digits are
those of any script, and its numbers may begin with zeros. Over the text of a JSON value all this makes no
difference: what the scan takes for a value of its kind is that value, whole (`Kind.after_text`).

* **`afterString_glyphs`**: a string ends at its closing quote, whatever is escaped in it.
* **`afterNumber_text`**: a number is taken whole, if what follows does not continue it.
-/

namespace BodyScrub

open Json

/-! ## Classes of code points -/

/-- The four blanks of JSON are blanks for the scan, which also skips white space of all other kinds. In a JSON text
the two skip the same. -/
theorem isBlank_of_isSpace {c : CodePoint} (h : isSpace c = true) : c.isBlank = true := by
  simp only [isSpace, Bool.or_eq_true, decide_eq_true_eq] at h
  rcases h with ((rfl | rfl) | rfl) | rfl
  · decide
  · decide
  · decide
  · decide

/-- Values do not begin with white space of any script, so the scan skips no more in front of a value than the
reader does. -/
theorem isBlank_of_opensValue {c : CodePoint} (h : opensValue c = true) : c.isBlank = false := by
  by_cases hdigit : c.isAsciiDigit = true
  · exact CodePoint.isBlank_of_isAsciiDigit hdigit
  · rw [Bool.not_eq_true] at hdigit
    simp only [opensValue, opensScalar, hdigit, Bool.false_or, Bool.or_eq_true, decide_eq_true_eq] at h
    rcases h with (((((((rfl | rfl) | rfl) | rfl) | rfl) | rfl) | rfl) | rfl) | rfl
    all_goals exact CodePoint.isBlank_eq_false (by decide) (by decide)

/-- What may follow a value is no digit and no letter of any script, and no point. So it neither continues a number
nor hides the end of a word. -/
theorem Json.Follows.scan_head {r : Text} (h : Follows r) {c : CodePoint} (hc : c ∈ r.head?) :
    c.isDigit = false ∧ c.isWord = false ∧ c ≠ '.' ∧ c ≠ 'e' ∧ c ≠ 'E' := by
  have hhead := h.head hc
  simp only [isSpace, isCloser, Bool.or_eq_true, decide_eq_true_eq] at hhead
  rcases hhead with (((rfl | rfl) | rfl) | rfl) | ((rfl | rfl) | rfl)
  all_goals decide

namespace PropertyFilter

/-! ## What is left of a text

Every scanner gives back an end of the text that it was given. -/

/-- What is left behind a string is an end of the text, also behind one that the reader would refuse. -/
theorem isSuffix_of_afterStringBody {t r : Text} (h : afterStringBody t = some r) : r <:+ t := by
  fun_induction afterStringBody t with
  | case1 => cases h
  | case2 t =>
    obtain rfl := Option.some.inj h
    exact List.suffix_cons _ t
  | case3 => cases h
  | case4 => cases h
  -- a backslash with the code point behind it
  | case5 e t _ _ ih => exact ((ih h).trans (List.suffix_cons e t)).trans (List.suffix_cons _ _)
  | case6 c t hc hslash ih => exact (ih h).trans (List.suffix_cons c t)

theorem isSuffix_of_afterString {t r : Text} (h : afterString t = some r) : r <:+ t := by
  unfold afterString at h
  split at h
  · cases h
  · next c t =>
    split at h
    · exact (isSuffix_of_afterStringBody h).trans (List.suffix_cons c t)
    · cases h

theorem isSuffix_of_afterDigits {t r : Text} (h : afterDigits t = some r) : r <:+ t := by
  unfold afterDigits at h
  dsimp only at h
  split at h
  · cases h
  · rw [← Option.some.inj h]
    exact ⟨(Text.span CodePoint.isDigit t).1, Text.span_append CodePoint.isDigit t⟩

theorem afterOptional_isSuffix (p : CodePoint → Bool) (t : Text) : afterOptional p t <:+ t := by
  unfold afterOptional
  split
  · exact List.suffix_rfl
  · next c t =>
    split
    · exact List.suffix_cons c t
    · exact List.suffix_rfl

theorem afterFraction_isSuffix (t : Text) : afterFraction t <:+ t := by
  unfold afterFraction
  split
  · exact List.suffix_rfl
  · next c t =>
    split
    · cases hdigits : afterDigits t with
      | none => exact List.suffix_rfl
      | some r => exact (isSuffix_of_afterDigits hdigits).trans (List.suffix_cons c t)
    · exact List.suffix_rfl

theorem afterExponent_isSuffix (t : Text) : afterExponent t <:+ t := by
  unfold afterExponent
  split
  · exact List.suffix_rfl
  · next c t =>
    split
    · cases hdigits : afterDigits (afterOptional (fun d => d = '+' || d = '-') t) with
      | none => exact List.suffix_rfl
      | some r =>
        have hsign := afterOptional_isSuffix (fun d => d = '+' || d = '-') t
        exact ((isSuffix_of_afterDigits hdigits).trans hsign).trans (List.suffix_cons c t)
    · exact List.suffix_rfl

/-- What is left behind a number is an end of the text: the sign, the digits, the fraction and the exponent are
taken off one after another. -/
theorem isSuffix_of_afterNumber {t r : Text} (h : afterNumber t = some r) : r <:+ t := by
  obtain ⟨u, hdigits, rfl⟩ := Option.map_eq_some_iff.1 h
  have hu := (isSuffix_of_afterDigits hdigits).trans (afterOptional_isSuffix _ t)
  exact ((afterExponent_isSuffix _).trans (afterFraction_isSuffix u)).trans hu

theorem isSuffix_of_after? {lead t r : Text} (h : Text.after? lead t = some r) : r <:+ t :=
  ⟨lead, (Text.after?_eq_some_iff.1 h).symm⟩

/-- What is left behind a number or a word is an end of the text, and the check of what follows takes nothing off. -/
theorem isSuffix_of_afterPrimitive {t r : Text} (h : afterPrimitive t = some r) : r <:+ t := by
  obtain ⟨hvalue, -⟩ := Option.filter_eq_some_iff.1 h
  simp only [Option.or_eq_some_iff] at hvalue
  rcases hvalue with ((hnumber | ⟨-, hword⟩) | ⟨-, hword⟩) | ⟨-, hword⟩
  · exact isSuffix_of_afterNumber hnumber
  · exact isSuffix_of_after? hword
  · exact isSuffix_of_after? hword
  · exact isSuffix_of_after? hword

/-- Whatever kind of value is taken off a text, an end of the text is left. -/
theorem Kind.isSuffix_of_after {kind : Kind} {t r : Text} (h : kind.after t = some r) : r <:+ t := by
  cases kind with
  | string => exact isSuffix_of_afterString h
  | primitive => exact isSuffix_of_afterPrimitive h

/-! ## Strings -/

theorem afterStringBody_quote (t : Text) : afterStringBody (CodePoint.quote :: t) = some t := by
  rw [afterStringBody.eq_def]
  dsimp only
  rw [if_pos rfl]

/-- A code point that is neither a quote nor a backslash is taken off by itself, a line feed included. -/
theorem afterStringBody_plain {c : CodePoint} (hquote : c ≠ CodePoint.quote) (hslash : c ≠ CodePoint.backslash)
    (t : Text) : afterStringBody (c :: t) = afterStringBody t := by
  rw [afterStringBody.eq_def]
  dsimp only
  rw [if_neg hquote, if_neg hslash]

/-- A backslash takes the next code point with it, unless that is a line feed. -/
theorem afterStringBody_escape {e : CodePoint} (he : e ≠ CodePoint.newline) (t : Text) :
    afterStringBody (CodePoint.backslash :: e :: t) = afterStringBody t := by
  rw [afterStringBody.eq_def]
  dsimp only
  rw [if_neg (by decide), if_pos rfl, if_neg he]

/-- No escape of JSON is one by a line feed, which is the only one that the scan refuses. A closed string of a JSON
text is closed for the scan, then. -/
theorem ne_newline_of_simpleEscape? {e d : CodePoint} (h : simpleEscape? e = some d) : e ≠ CodePoint.newline := by
  rintro rfl
  have hnone : simpleEscape? CodePoint.newline = none := by decide
  rw [hnone] at h
  cases h

/-- Hexadecimal digits are neither quotes nor backslashes, so the scan may take them one by one. -/
theorem ne_of_hex4? {a b c d : CodePoint} {n : Nat} (h : hex4? a b c d = some n) :
    ∀ x ∈ [a, b, c, d], x ≠ CodePoint.quote ∧ x ≠ CodePoint.backslash := by
  have hsome : ∀ x ∈ [a, b, c, d], x.hexDigit? ≠ none := by
    intro x hx hnone
    simp only [List.mem_cons, List.not_mem_nil, or_false] at hx
    unfold hex4? at h
    rcases hx with rfl | rfl | rfl | rfl
    all_goals
      rw [hnone] at h
      simp at h
  intro x hx
  constructor
  · rintro rfl
    exact hsome _ hx (by decide)
  · rintro rfl
    exact hsome _ hx (by decide)

/-- A string ends at its closing quote, whatever is escaped in it. The scan does not know what escapes mean; it is
enough that it takes each of them off whole or as plain code points. -/
theorem afterString_glyphs (gs : List Glyph) (r : Text) :
    afterString (CodePoint.quote :: (Glyph.textOf gs ++ CodePoint.quote :: r)) = some r := by
  show afterStringBody (Glyph.textOf gs ++ CodePoint.quote :: r) = some r
  induction gs with
  | nil => exact afterStringBody_quote r
  | cons g gs ih =>
    rw [Glyph.textOf_cons, List.append_assoc]
    cases g with
    | plain c h => exact (afterStringBody_plain h.1 h.2.1 _).trans ih
    | letter e d h => exact (afterStringBody_escape (ne_newline_of_simpleEscape? h) _).trans ih
    | number h₁ h₂ h₃ h₄ n h =>
      have hne := ne_of_hex4? h
      simp only [List.mem_cons, List.not_mem_nil, or_false, forall_eq_or_imp, forall_eq] at hne
      obtain ⟨⟨hq₁, hs₁⟩, ⟨hq₂, hs₂⟩, ⟨hq₃, hs₃⟩, hq₄, hs₄⟩ := hne
      -- the scan takes the backslash with the letter, and then the digits one by one
      show afterStringBody (CodePoint.backslash :: CodePoint.ofChar 'u' :: h₁ :: h₂ :: h₃ :: h₄
        :: (Glyph.textOf gs ++ CodePoint.quote :: r)) = some r
      rw [afterStringBody_escape (by decide), afterStringBody_plain hq₁ hs₁, afterStringBody_plain hq₂ hs₂,
        afterStringBody_plain hq₃ hs₃, afterStringBody_plain hq₄ hs₄, ih]

theorem afterString_of_ne {c : CodePoint} (h : c ≠ CodePoint.quote) (t : Text) : afterString (c :: t) = none := by
  rw [afterString, if_neg h]

/-! ## Numbers -/

/-- A run of digits is taken whole, if no digit of any script follows. -/
theorem afterDigits_append {ds r : Text} (hne : ds ≠ []) (hall : AllDigits ds)
    (hr : ∀ c ∈ r.head?, c.isDigit = false) : afterDigits (ds ++ r) = some r := by
  have hdigits : ∀ c ∈ ds, c.isDigit = true := fun c hc => CodePoint.isDigit_of_isAsciiDigit (hall c hc)
  have hspan : Text.span CodePoint.isDigit (ds ++ r) = (ds, r) := span_append_of hdigits hr
  have hempty : ¬ds.isEmpty = true := by
    rw [List.isEmpty_iff]
    exact hne
  unfold afterDigits
  rw [hspan]
  dsimp only
  rw [if_neg hempty]

theorem afterOptional_of_not {p : CodePoint → Bool} {t : Text} (h : ∀ c ∈ t.head?, p c = false) :
    afterOptional p t = t := by
  cases t with
  | nil => rfl
  | cons c t =>
    have hc : ¬p c = true := by
      rw [h c rfl]
      decide
    rw [afterOptional, if_neg hc]

/-- A fraction is taken off, or there is none and nothing is taken. -/
theorem afterFraction_text {f : Option Text} (hf : ∀ ds ∈ f, ds ≠ [] ∧ AllDigits ds) {r : Text}
    (hr : ∀ c ∈ r.head?, c.isDigit = false ∧ c ≠ '.') : afterFraction (Numeral.fractionText f ++ r) = r := by
  cases f with
  | none =>
    cases r with
    | nil => rfl
    | cons c r =>
      show afterFraction (c :: r) = c :: r
      rw [afterFraction, if_neg (hr c rfl).2]
  | some ds =>
    obtain ⟨hne, hall⟩ := hf ds rfl
    show afterFraction (CodePoint.ofChar '.' :: (ds ++ r)) = r
    rw [afterFraction, if_pos rfl, afterDigits_append hne hall fun c hc => (hr c hc).1]
    rfl

/-- The sign of an exponent is taken off, if a digit follows. -/
theorem afterOptional_sign (sign : Sign) {d : CodePoint} (hd : d.isAsciiDigit = true) (t : Text) :
    afterOptional (fun c => c = '+' || c = '-') (sign.text ++ d :: t) = d :: t := by
  cases sign with
  | absent =>
    refine afterOptional_of_not fun c hc => ?_
    obtain rfl : d = c := Option.some.inj hc
    simp only [Bool.or_eq_false_iff, decide_eq_false_iff_not]
    exact ⟨ne_of_isAsciiDigit hd (by decide), ne_of_isAsciiDigit hd (by decide)⟩
  | plus => rfl
  | minus => rfl

/-- An exponent is taken off with its sign, or there is none and nothing is taken. -/
theorem afterExponent_text (e : Option Exponent) {r : Text}
    (hr : ∀ c ∈ r.head?, c.isDigit = false ∧ c ≠ 'e' ∧ c ≠ 'E') : afterExponent (Numeral.exponentText e ++ r) = r := by
  cases e with
  | none =>
    cases r with
    | nil => rfl
    | cons c r =>
      have hkey : ¬(c = CodePoint.ofChar 'e' || c = CodePoint.ofChar 'E') = true := by
        simpa using (hr c rfl).2
      show afterExponent (c :: r) = c :: r
      rw [afterExponent, if_neg hkey]
  | some e =>
    obtain ⟨letter, sign, digits, hletter, hne, hall⟩ := e
    have hkey : (letter = CodePoint.ofChar 'e' || letter = CodePoint.ofChar 'E') = true := by
      simpa using hletter
    cases digits with
    | nil => exact absurd rfl hne
    | cons d ds =>
      have hdigits := afterDigits_append hne hall fun c hc => (hr c hc).1
      have hsign := afterOptional_sign sign (hall d List.mem_cons_self) (ds ++ r)
      have htext : sign.text ++ d :: ds ++ r = sign.text ++ d :: (ds ++ r) := List.append_assoc _ _ _
      show afterExponent (letter :: (sign.text ++ d :: ds ++ r)) = r
      rw [htext, afterExponent, if_pos hkey, hsign, ← List.cons_append, hdigits]
      rfl

/-- A number is taken whole, if what follows does not continue it. Zeros in front would be taken too, but a number
of JSON has none. -/
theorem afterNumber_text (n : Numeral) {r : Text} (hr : Follows r) : afterNumber (n.text ++ r) = some r := by
  -- behind the fraction stands the exponent, or what follows the number
  have hend : ∀ c ∈ (Numeral.exponentText n.exponent ++ r).head?, c.isDigit = false ∧ c ≠ '.' := by
    cases he : n.exponent with
    | none =>
      intro c hc
      exact ⟨(hr.scan_head hc).1, (hr.scan_head hc).2.2.1⟩
    | some e =>
      intro c hc
      obtain rfl : e.letter = c := Option.some.inj hc
      rcases e.letter_eq with h | h
      · rw [h]; decide
      · rw [h]; decide
  have hpoint : ∀ c ∈ (Numeral.fractionText n.fraction ++ (Numeral.exponentText n.exponent ++ r)).head?,
      c.isDigit = false := by
    cases hf : n.fraction with
    | none => exact fun c hc => (hend c hc).1
    | some ds =>
      intro c hc
      obtain rfl : CodePoint.ofChar '.' = c := Option.some.inj hc
      decide
  have hwhole := afterDigits_append n.isWhole.ne_nil n.isWhole.allDigits hpoint
  have hfraction := afterFraction_text n.isFraction hend
  have hexponent : afterExponent (Numeral.exponentText n.exponent ++ r) = r :=
    afterExponent_text n.exponent fun c hc => ⟨(hr.scan_head hc).1, (hr.scan_head hc).2.2.2⟩
  -- a minus is taken off, and a digit is left alone
  have hsign : afterOptional (· = CodePoint.ofChar '-') (n.text ++ r) = n.magnitudeText ++ r := by
    unfold Numeral.text
    split
    · rfl
    · obtain ⟨d, t, htext, hd⟩ := n.magnitudeText_cons
      refine afterOptional_of_not fun c hc => ?_
      rw [htext] at hc
      obtain rfl : d = c := Option.some.inj hc
      rw [decide_eq_false_iff_not]
      exact ne_of_isAsciiDigit hd (by decide)
  unfold afterNumber
  rw [hsign, Numeral.magnitudeText, List.append_assoc, List.append_assoc, hwhole, Option.map_some, hfraction,
    hexponent]

/-! ## Values of a kind -/

/-- A number or a word of a JSON text passes the check of what follows it. In other texts a longer word may begin
with such a word. -/
theorem endsPrimitive_of_follows {r : Text} (hr : Follows r) : endsPrimitive r = true := by
  cases r with
  | nil => rfl
  | cons c r =>
    have hc := hr.scan_head (c := c) rfl
    simp only [endsPrimitive, hc.2.1, hc.2.2.1, decide_false, Bool.or_self, Bool.not_false]

/-- A numeral of a JSON text is taken as a primitive value; the words are not tried after it. All of it is taken, as
what follows it does not continue a number. -/
theorem afterPrimitive_numeral (n : Numeral) {r : Text} (hr : Follows r) :
    afterPrimitive (n.text ++ r) = some r := by
  unfold afterPrimitive
  rw [afterNumber_text n hr, Option.some_or, Option.some_or, Option.some_or, Option.filter_some,
    endsPrimitive_of_follows hr, if_pos rfl]

/-- Whether a value that is not a container is of a kind, as it is spelled. The words for numbers that are not finite
are of neither kind. -/
def Kind.takesAtom : Kind → Atom → Bool
  | .string, .string _ => true
  | .primitive, .word _ _ _ => true
  | .primitive, .number _ => true
  | _, _ => false

/-- Whether a value is of a kind, as it is spelled. -/
def Kind.takes (kind : Kind) : Spelling → Bool
  | .atom a => kind.takesAtom a
  | _ => false

/-- Of the values without others in them, a string alone is taken by a filter for strings. -/
theorem afterString_atom (a : Atom) (r : Text) :
    afterString (a.text ++ r) = if Kind.string.takesAtom a then some r else none := by
  rcases a.string_or with ⟨gs, rfl⟩ | hscalar
  · have htext : (Atom.string gs).text ++ r = CodePoint.quote :: (Glyph.textOf gs ++ CodePoint.quote :: r) := by
      simp [Atom.text]
    rw [htext]
    exact afterString_glyphs gs r
  -- everything else begins with a code point other than a quote
  · obtain ⟨c, t, htext, hc⟩ := Atom.text_cons hscalar
    have hnot : Kind.string.takesAtom a = false := by
      cases a with
      | string gs => exact absurd rfl (hscalar gs)
      | _ => rfl
    rw [htext, hnot, List.cons_append]
    exact afterString_of_ne (ne_of_opensScalar hc (by decide)) _

/-- A number, a truth value or null is taken by a filter for primitive values; a string is not, and neither are the
words for numbers that are not finite. -/
theorem afterPrimitive_atom (a : Atom) {r : Text} (hr : Follows r) :
    afterPrimitive (a.text ++ r) = if Kind.primitive.takesAtom a then some r else none := by
  cases a with
  | word w v h =>
    have hend : (some r).filter endsPrimitive = some r := by
      rw [Option.filter_some, endsPrimitive_of_follows hr, if_pos rfl]
    rcases mem_wordValues.1 h with ⟨rfl, -⟩ | ⟨rfl, -⟩ | ⟨rfl, -⟩
    · exact hend
    · exact hend
    · exact hend
  | nonFinite w x h =>
    rcases mem_nonFiniteWords.1 h with ⟨rfl, -⟩ | ⟨rfl, -⟩ | ⟨rfl, -⟩
    · rfl
    · rfl
    · rfl
  | number n => exact afterPrimitive_numeral n hr
  | string gs => rfl

/-- What the scan takes for a value of its kind is that value, whole. An object or an array is never taken, as its
bracket opens no value of either kind. -/
theorem Kind.after_text (kind : Kind) (s : Spelling) {r : Text} (hr : Follows r) :
    kind.after (s.text ++ r) = if kind.takes s then some r else none := by
  cases s with
  | atom a =>
    cases kind with
    | string => exact afterString_atom a r
    | primitive => exact afterPrimitive_atom a hr
  | emptyArray b => cases kind <;> rfl
  | emptyObject b => cases kind <;> rfl
  | array items => cases kind <;> rfl
  | object members => cases kind <;> rfl

end PropertyFilter

end BodyScrub
